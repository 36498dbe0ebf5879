/-
Masking what is masked already.  Only a short local part and the digits of a
longer number are taken for something else the second time; what comes out then
is neither, so a third time changes nothing.
-/
import ContactPrivacy.Proofs.Mask.Phone
import ContactPrivacy.Proofs.Policy.Masking

namespace ContactPrivacy

/-- What is hidden stays hidden. -/
theorem Field.mask_complete_twice (field : Field) (value : String) :
    field.mask .complete (field.mask .complete value) = field.mask .complete value := by
  rcases eq_or_ne value "" with rfl | hvalue
  · have hempty := (field.mask_eq_empty_iff .complete "").mpr rfl
    rw [hempty, hempty]
  · have hhidden : String.ofList Mask.hidden ≠ "" := by decide
    rw [field.mask_complete hvalue, field.mask_complete hhidden]

namespace Mask

/-! Labels and domains -/

/-- A masked label is stars, or starts with what it keeps. -/
theorem label_label (s : List Char) : label (label s) = label s := by
  rcases Nat.lt_or_ge 3 s.length with hlong | hshort
  · obtain ⟨c, -, hmasked⟩ := label_of_long hlong
    rw [hmasked]
    rfl
  · rw [label_of_short hshort]
    rfl

theorem labels_labels (parts : List (List Char)) : labels (labels parts) = labels parts := by
  rcases List.eq_nil_or_concat parts with rfl | ⟨front, last, rfl⟩
  · rfl
  · simp only [List.concat_eq_append, labels_append_singleton, List.map_map, Function.comp_def,
      label_label]

theorem length_labels (parts : List (List Char)) : (labels parts).length = parts.length := by
  rcases List.eq_nil_or_concat parts with rfl | ⟨front, last, rfl⟩
  · rfl
  · simp [labels_append_singleton]

/-- A masked domain is cut at its dots into the masked labels. -/
theorem splitOn_domainText (s : List Char) :
    (domainText s).splitOn '.' = labels (s.splitOn '.') :=
  List.splitOn_intercalate '.' (dot_not_mem_of_mem_labels Lists.not_mem_of_mem_splitOn)
    (labels_ne_nil (List.splitOn_ne_nil '.' s))

theorem domainText_domainText (s : List Char) : domainText (domainText s) = domainText s := by
  rw [domainText, splitOn_domainText, labels_labels, ← domainText]

theorem domain_domain (value : String) : domain (domain value) = domain value := by
  simp [domain, domainText_domainText]

/-- Masking keeps the number of labels. -/
theorem length_splitOn_domain (value : String) :
    ((domain value).toList.splitOn '.').length = (value.toList.splitOn '.').length := by
  rw [domain, String.toList_ofList, splitOn_domainText, length_labels]

/-! Local parts -/

/-- A masked local part is never short. -/
theorem two_lt_length_localText (s : List Char) : 2 < (localText s).length := by
  rcases Nat.lt_or_ge 2 s.length with hlong | hshort
  · obtain ⟨c, d, -, -, hmasked⟩ := localText_of_long hlong
    simp [hmasked, stars]
  · rw [localText_of_short hshort]
    decide

/-- Only a short local part is masked as something else than its masked form. -/
theorem localText_localText_eq_iff (s : List Char) :
    localText (localText s) = localText s ↔ 2 < s.length := by
  rcases Nat.lt_or_ge 2 s.length with hlong | hshort
  · obtain ⟨c, d, -, -, hmasked⟩ := localText_of_long hlong
    rw [hmasked]
    exact iff_of_true rfl hlong
  · rw [localText_of_short hshort]
    exact iff_of_false (by decide) (Nat.not_lt_of_le hshort)

theorem take_one_append_stars_eq_iff (s : List Char) :
    (s.take 1 ++ stars).take 1 ++ stars = s.take 1 ++ stars ↔ s ≠ [] := by
  cases s with
  | nil => decide
  | cons c rest => simp

/-! Addresses -/

/-- An address put together from its parts has these parts. -/
theorem parts_ofList {front : List Char} (hfront : '@' ∉ front) (back : List Char) :
    localPart (String.ofList (front ++ '@' :: back)) = front ∧
      domainPart (String.ofList (front ++ '@' :: back)) = back := by
  have hat : '@' ∈ (String.ofList (front ++ '@' :: back)).toList := by simp
  have hparts := splitFirst?_toList hat
  rw [String.toList_ofList, (splitFirst?_eq_some_iff '@' _ front back).mpr ⟨rfl, hfront⟩] at hparts
  obtain ⟨hlocal, hdomain⟩ := Prod.mk.inj (Option.some.inj hparts)
  exact ⟨hlocal.symm, hdomain.symm⟩

section

variable {front back : List Char} (hfront : '@' ∉ front)

include hfront

theorem email_standard_ofList :
    email .standard (String.ofList (front ++ '@' :: back)) =
      String.ofList (localText front ++ '@' :: domainText back) := by
  obtain ⟨hlocal, hdomain⟩ := parts_ofList hfront back
  rw [email_standard (by simp), hlocal, hdomain]

theorem email_minimal_ofList :
    email .minimal (String.ofList (front ++ '@' :: back)) =
      String.ofList (front.take 1 ++ stars ++ '@' :: back) := by
  obtain ⟨hlocal, hdomain⟩ := parts_ofList hfront back
  rw [email_minimal (by simp), hlocal, hdomain]

end

theorem email_of_at_not_mem {pattern : Pattern} (hpattern : pattern ≠ .complete) {value : String}
    (hat : '@' ∉ value.toList) : email pattern value = value := by
  rcases eq_or_ne value.toList [] with hempty | hchars
  · rw [String.toList_eq_nil_iff.mp hempty, email_empty]
  · have hnone := (splitFirst?_eq_none_iff '@' value.toList).mpr hat
    cases pattern with
    | complete => exact absurd rfl hpattern
    | minimal => simp [email, emailText, hchars, hnone]
    | standard => simp [email, emailText, hchars, hnone]

theorem email_complete_twice (value : String) :
    email .complete (email .complete value) = email .complete value :=
  Field.email.mask_complete_twice value

section

variable {value : String} (hat : '@' ∈ value.toList)

include hat

/-- Masked again, an address stays if its local part was not short. -/
theorem email_standard_twice_eq_iff :
    email .standard (email .standard value) = email .standard value ↔
      2 < (localPart value).length := by
  rw [email_standard hat, email_standard_ofList (at_not_mem_localText value),
    domainText_domainText, String.ofList_inj, List.append_left_inj, localText_localText_eq_iff]

theorem email_minimal_twice_eq_iff :
    email .minimal (email .minimal value) = email .minimal value ↔ localPart value ≠ [] := by
  rw [email_minimal hat, email_minimal_ofList (at_not_mem_localStart value), String.ofList_inj,
    List.append_left_inj, take_one_append_stars_eq_iff]

end

/-- Which addresses are masked differently the second time. -/
theorem email_twice_ne_iff (pattern : Pattern) (value : String) :
    email pattern (email pattern value) ≠ email pattern value ↔
      '@' ∈ value.toList ∧
        (pattern = .standard ∧ (localPart value).length ≤ 2 ∨
          pattern = .minimal ∧ localPart value = []) := by
  by_cases hat : '@' ∈ value.toList
  · cases pattern with
    | minimal => simp [email_minimal_twice_eq_iff hat, hat]
    | standard => simp [email_standard_twice_eq_iff hat, hat]
    | complete => simp [email_complete_twice]
  · cases pattern with
    | complete => simp [email_complete_twice]
    | minimal => simp [email_of_at_not_mem _ hat, hat]
    | standard => simp [email_of_at_not_mem _ hat, hat]

/-- No masked address is masked differently the second time. -/
theorem email_settles (pattern : Pattern) (value : String) :
    email pattern (email pattern (email pattern value)) = email pattern (email pattern value) := by
  by_contra hchanged
  obtain ⟨hmasked, hshort⟩ := (email_twice_ne_iff pattern (email pattern value)).mp hchanged
  have hpattern : pattern ≠ .complete := by
    rintro rfl
    simp at hshort
  have hat : '@' ∈ value.toList := by
    by_contra hnone
    rw [email_of_at_not_mem hpattern hnone] at hmasked
    exact hnone hmasked
  rcases hshort with ⟨rfl, hshort⟩ | ⟨rfl, hempty⟩
  · rw [email_standard hat, (parts_ofList (at_not_mem_localText value) _).1] at hshort
    exact absurd (two_lt_length_localText _) (Nat.not_lt_of_le hshort)
  · rw [email_minimal hat, (parts_ofList (at_not_mem_localStart value) _).1] at hempty
    simp [stars] at hempty

/-! Numbers -/

theorem phone_complete_twice (value : String) :
    phone .complete (phone .complete value) = phone .complete value :=
  Field.phone.mask_complete_twice value

/-- A text without digits stays unless it is hidden. -/
theorem phone_of_no_digits {pattern : Pattern} (hpattern : pattern ≠ .complete) {value : String}
    (hdigits : numberDigits value = []) : phone pattern value = value := by
  rcases eq_or_ne value.toList [] with hempty | hchars
  · rw [String.toList_eq_nil_iff.mp hempty, phone_empty]
  · rw [numberDigits] at hdigits
    cases pattern with
    | complete => exact absurd rfl hpattern
    | minimal => simp [phone, phoneText, hchars, hdigits]
    | standard => simp [phone, phoneText, hchars, hdigits]

/-- The start of a longer number holds a digit only if it tells the country. -/
theorem decimalDigits_numberStart (pattern : Pattern) (digits : List Char) :
    Text.decimalDigits (numberStart pattern digits) =
      if pattern = .minimal ∧ digits.head? = some '1' then ['1'] else [] := by
  have hgroups : Text.decimalDigits groupStars = [] := by decide
  cases pattern with
  | minimal =>
      by_cases hone : digits.head? = some '1'
      · simp only [numberStart, countryText, hone, and_self, if_true]
        decide
      · simp only [numberStart, countryText, hone, and_false, if_false]
        decide
  | standard => simpa [numberStart] using hgroups
  | complete => simpa [numberStart] using hgroups

theorem decimalDigits_rtake (value : String) :
    Text.decimalDigits ((numberDigits value).rtake 4) = (numberDigits value).rtake 4 :=
  List.filter_eq_self.mpr fun _ hc =>
    Text.isDecimalDigit_of_mem_decimalDigits (List.mem_of_mem_drop hc)

section

variable {pattern : Pattern} (hpattern : pattern ≠ .complete) {value : String}

include hpattern

/-- A number that was starred out has no digits left. -/
theorem numberDigits_phone_of_short (hshort : (numberDigits value).length ≤ 4) :
    numberDigits (phone pattern value) = [] := by
  rcases eq_or_ne (numberDigits value) [] with hnone | hdigits
  · rw [phone_of_no_digits hpattern hnone, hnone]
  · rw [phone_eq_numberText hpattern hdigits, numberText_of_short hshort]
    decide

/-- A longer number keeps its last four digits, and an ASCII one that tells the country. -/
theorem numberDigits_phone_of_long (hlong : 4 < (numberDigits value).length) :
    numberDigits (phone pattern value) =
      (if pattern = .minimal ∧ (numberDigits value).head? = some '1' then ['1'] else []) ++
        (numberDigits value).rtake 4 := by
  have hdigits := List.ne_nil_of_length_pos (Nat.zero_lt_of_lt hlong)
  rw [phone_eq_numberText hpattern hdigits, numberText_of_long hlong, numberDigits,
    String.toList_ofList, Text.decimalDigits_append, decimalDigits_numberStart, decimalDigits_rtake]

end

/-- A number that shows its country code shows the same the second time. -/
theorem phone_minimal_twice_of_one {value : String} (hlong : 4 < (numberDigits value).length)
    (hone : (numberDigits value).head? = some '1') :
    phone .minimal (phone .minimal value) = phone .minimal value := by
  have hminimal : Pattern.minimal ≠ .complete := by decide
  have hdigits := List.ne_nil_of_length_pos (Nat.zero_lt_of_lt hlong)
  have hlength := Lists.length_rtake_of_le hlong.le
  have hmasked := numberDigits_phone_of_long hminimal hlong
  rw [if_pos ⟨rfl, hone⟩, List.singleton_append] at hmasked
  have hsame : numberText .minimal ('1' :: (numberDigits value).rtake 4) =
      numberText .minimal (numberDigits value) := by
    refine (numberText_eq_iff_of_long (by simp [hlength]) hlong).mpr ⟨?_, ?_⟩
    · rw [List.rtake, List.length_cons, hlength]
      rfl
    · exact (numberStart_minimal_eq_iff _ _).mpr (iff_of_true rfl hone)
  rw [phone_eq_numberText hminimal (by rw [hmasked]; exact List.cons_ne_nil _ _), hmasked, hsame,
    ← phone_eq_numberText hminimal hdigits]

/-- A longer number that shows no country code is starred out the second time. -/
theorem phone_twice_ne_of_long {pattern : Pattern} (hpattern : pattern ≠ .complete) {value : String}
    (hlong : 4 < (numberDigits value).length)
    (hone : ¬(pattern = .minimal ∧ (numberDigits value).head? = some '1')) :
    phone pattern (phone pattern value) ≠ phone pattern value := by
  have hdigits := List.ne_nil_of_length_pos (Nat.zero_lt_of_lt hlong)
  have hlength := Lists.length_rtake_of_le hlong.le
  have hmasked := numberDigits_phone_of_long hpattern hlong
  rw [if_neg hone, List.nil_append] at hmasked
  have hleft : numberDigits (phone pattern value) ≠ [] := by
    rw [hmasked]
    exact List.ne_nil_of_length_pos (by omega)
  rw [phone_eq_numberText hpattern hleft, hmasked, numberText_of_short (by omega),
    phone_eq_numberText hpattern hdigits, Ne, String.ofList_inj]
  intro hsame
  have hlonger : stars.length < (numberText pattern (numberDigits value)).length :=
    stars_length_lt_numberText hlong
  rw [← hsame] at hlonger
  exact Nat.lt_irrefl _ hlonger

/-- Which numbers are masked differently the second time. -/
theorem phone_twice_ne_iff (pattern : Pattern) (value : String) :
    phone pattern (phone pattern value) ≠ phone pattern value ↔
      4 < (numberDigits value).length ∧
        (pattern = .standard ∨
          pattern = .minimal ∧ (numberDigits value).head? ≠ some '1') := by
  rcases eq_or_ne pattern .complete with rfl | hpattern
  · simp [phone_complete_twice]
  · rcases Nat.lt_or_ge 4 (numberDigits value).length with hlong | hshort
    · by_cases hone : pattern = .minimal ∧ (numberDigits value).head? = some '1'
      · obtain ⟨rfl, hone⟩ := hone
        simp [phone_minimal_twice_of_one hlong hone, hone]
      · refine iff_of_true (phone_twice_ne_of_long hpattern hlong hone) ⟨hlong, ?_⟩
        cases pattern with
        | minimal => exact Or.inr ⟨rfl, fun h => hone ⟨rfl, h⟩⟩
        | standard => exact Or.inl rfl
        | complete => exact absurd rfl hpattern
    · rw [phone_of_no_digits hpattern (numberDigits_phone_of_short hpattern hshort)]
      exact iff_of_false (fun h => h rfl) fun h => Nat.not_lt_of_le hshort h.1

/-- No masked number is masked differently the second time: it has at most four
digits left, or starts with the one that tells its country. -/
theorem phone_settles (pattern : Pattern) (value : String) :
    phone pattern (phone pattern (phone pattern value)) = phone pattern (phone pattern value) := by
  by_contra hchanged
  obtain ⟨hmasked, hother⟩ := (phone_twice_ne_iff pattern (phone pattern value)).mp hchanged
  have hpattern : pattern ≠ .complete := by
    rintro rfl
    simp at hother
  rcases Nat.lt_or_ge 4 (numberDigits value).length with hlong | hshort
  · rw [numberDigits_phone_of_long hpattern hlong] at hmasked hother
    split at hmasked
    · next hone =>
        obtain ⟨rfl, hone⟩ := hone
        simp [hone] at hother
    · rw [List.nil_append, Lists.length_rtake_of_le hlong.le] at hmasked
      exact Nat.lt_irrefl 4 hmasked
  · rw [numberDigits_phone_of_short hpattern hshort] at hmasked
    exact absurd hmasked (by decide)

/-- Masking settles after the second time.  The second time differs from the
first only for addresses with a short local part and for longer numbers that
show no country code.  Domains settle at once and keep their number of labels. -/
theorem masking_settles (name : Option String) (value : String) :
    let pattern := Pattern.ofRule name
    email pattern (email pattern (email pattern value)) = email pattern (email pattern value) ∧
      phone pattern (phone pattern (phone pattern value)) =
        phone pattern (phone pattern value) ∧
      (email pattern (email pattern value) ≠ email pattern value ↔
        '@' ∈ value.toList ∧
          ((name ≠ some "minimal" ∧ name ≠ some "complete") ∧ (localPart value).length ≤ 2 ∨
            name = some "minimal" ∧ localPart value = [])) ∧
      (phone pattern (phone pattern value) ≠ phone pattern value ↔
        4 < (numberDigits value).length ∧
          ((name ≠ some "minimal" ∧ name ≠ some "complete") ∨
            name = some "minimal" ∧ (numberDigits value).head? ≠ some '1')) ∧
      domain (domain value) = domain value ∧
      ((domain value).toList.splitOn '.').length = (value.toList.splitOn '.').length := by
  intro pattern
  have hstandard : pattern = .standard ↔ _ := Pattern.ofRule_eq_standard_iff name
  have hminimal : pattern = .minimal ↔ _ := Pattern.ofRule_eq_minimal_iff name
  refine ⟨email_settles pattern value, phone_settles pattern value, ?_, ?_, domain_domain value,
    length_splitOn_domain value⟩
  · rw [email_twice_ne_iff, hstandard, hminimal]
  · rw [phone_twice_ne_iff, hstandard, hminimal]

end Mask

end ContactPrivacy
