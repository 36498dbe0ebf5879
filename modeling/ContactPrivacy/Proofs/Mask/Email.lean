/-
What a masked address tells.  The characters that stay may be stars, dots or
at signs themselves, so a masked address is taken apart at its first at sign
and, after it, at its dots: masking moves neither of them into a local part or
a label.
-/
import Mathlib.Data.List.Forall2
import Mathlib.Data.List.TakeDrop
import Mathlib.Data.List.TakeWhile
import ContactPrivacy.Mask.Email
import ContactPrivacy.Proofs.Lists

namespace ContactPrivacy.Mask

/-- What stands before the first at sign of an address. -/
def localPart (address : String) : List Char := address.toList.takeWhile (· ≠ '@')

/-- What stands after the first at sign of an address. -/
def domainPart (address : String) : List Char := (address.toList.dropWhile (· ≠ '@')).tail

def domainLabels (address : String) : List (List Char) := (domainPart address).splitOn '.'

/-- Both local parts are starred out, or both are longer and begin and end alike. -/
def SameEnds (first second : List Char) : Prop :=
  (first.length ≤ 2 ∧ second.length ≤ 2) ∨
    (2 < first.length ∧ 2 < second.length ∧
      first.head? = second.head? ∧ first.getLast? = second.getLast?)

/-- Both labels are starred out, or both are longer and begin alike. -/
def SameStart (first second : List Char) : Prop :=
  (first.length ≤ 3 ∧ second.length ≤ 3) ∨
    (3 < first.length ∧ 3 < second.length ∧ first.head? = second.head?)

/-- As many labels with the same last one, and the others alike as far as they show. -/
@[mk_iff]
structure SameLabels (first second : List (List Char)) : Prop where
  length : first.length = second.length
  last : first.getLast? = second.getLast?
  others : List.Forall₂ SameStart first.dropLast second.dropLast

instance (first second : List Char) : Decidable (SameEnds first second) :=
  inferInstanceAs (Decidable (_ ∨ _))

instance (first second : List Char) : Decidable (SameStart first second) :=
  inferInstanceAs (Decidable (_ ∨ _))

instance (first second : List (List Char)) : Decidable (SameLabels first second) :=
  decidable_of_iff' _ (sameLabels_iff first second)

/-! Taking an address apart -/

theorem at_not_mem_localPart (address : String) : '@' ∉ localPart address := by
  intro hat
  simpa using List.mem_takeWhile_imp hat

theorem splitFirst?_toList {address : String} (hat : '@' ∈ address.toList) :
    splitFirst? '@' address.toList = some (localPart address, domainPart address) := by
  have hsome : splitFirst? '@' address.toList ≠ none := by
    rwa [Ne, splitFirst?_eq_none_iff, not_not]
  obtain ⟨⟨front, back⟩, hparts⟩ := Option.ne_none_iff_exists'.mp hsome
  obtain ⟨haddress, hfront⟩ := (splitFirst?_eq_some_iff _ _ _ _).mp hparts
  have hbefore : ∀ c ∈ front, decide (c ≠ '@') = true := by
    intro c hc
    exact decide_eq_true (ne_of_mem_of_not_mem hc hfront)
  rw [hparts, localPart, domainPart, haddress, List.takeWhile_append_of_pos hbefore,
    List.dropWhile_append_of_pos hbefore]
  simp

/-- The first at sign tells what stands before it and what after it. -/
theorem append_at_inj {front other back rest : List Char} (hfront : '@' ∉ front)
    (hother : '@' ∉ other) :
    front ++ '@' :: back = other ++ '@' :: rest ↔ front = other ∧ back = rest := by
  constructor
  · intro hsame
    have hleft := (splitFirst?_eq_some_iff '@' _ front back).mpr ⟨rfl, hfront⟩
    have hright := (splitFirst?_eq_some_iff '@' _ other rest).mpr ⟨hsame, hother⟩
    simpa using hleft.symm.trans hright
  · rintro ⟨rfl, rfl⟩
    rfl

/-! The local part and the labels -/

/-- Where the short texts are masked as stars and the others as something longer,
two texts are masked alike if both are short or neither is and they show the same. -/
theorem masked_eq_iff {mask : List Char → List Char} {limit : Nat}
    (hshort : ∀ s, s.length ≤ limit → mask s = stars)
    (hlong : ∀ s, limit < s.length → stars.length < (mask s).length) (first second : List Char) :
    mask first = mask second ↔
      (first.length ≤ limit ∧ second.length ≤ limit) ∨
        (limit < first.length ∧ limit < second.length ∧ mask first = mask second) := by
  constructor
  · intro hsame
    rcases Nat.lt_or_ge limit first.length with hfirst | hfirst
    · refine Or.inr ⟨hfirst, Nat.lt_of_not_le fun hsecond => ?_, hsame⟩
      have hlength := hlong first hfirst
      rw [hsame, hshort second hsecond] at hlength
      exact Nat.lt_irrefl _ hlength
    · refine Or.inl ⟨hfirst, Nat.le_of_not_lt fun hsecond => ?_⟩
      have hlength := hlong second hsecond
      rw [← hsame, hshort first hfirst] at hlength
      exact Nat.lt_irrefl _ hlength
  · rintro (⟨hfirst, hsecond⟩ | ⟨-, -, hsame⟩)
    · rw [hshort first hfirst, hshort second hsecond]
    · exact hsame

theorem localText_of_short {s : List Char} (hs : s.length ≤ 2) : localText s = stars := if_pos hs

/-- A longer local part keeps its outer characters. -/
theorem localText_of_long {s : List Char} (hs : 2 < s.length) :
    ∃ c d, s.head? = some c ∧ s.getLast? = some d ∧ localText s = c :: stars ++ [d] := by
  have hne : s ≠ [] := List.ne_nil_of_length_pos (by omega)
  refine ⟨s.head hne, s.getLast hne, List.head?_eq_some_head hne,
    List.getLast?_eq_some_getLast hne, ?_⟩
  rw [localText, if_neg (by omega), lastOf, List.drop_length_sub_one hne, List.take_one,
    List.head?_eq_some_head hne]
  rfl

theorem localText_eq_iff (first second : List Char) :
    localText first = localText second ↔ SameEnds first second := by
  rw [masked_eq_iff (fun _ hs => localText_of_short hs), SameEnds]
  · refine or_congr_right (and_congr_right fun hfirst => and_congr_right fun hsecond => ?_)
    obtain ⟨c, d, hc, hd, hmasked⟩ := localText_of_long hfirst
    obtain ⟨c', d', hc', hd', hmasked'⟩ := localText_of_long hsecond
    simp [hmasked, hmasked', hc, hd, hc', hd']
  · intro s hs
    obtain ⟨c, d, -, -, hmasked⟩ := localText_of_long hs
    rw [hmasked, List.length_append, List.length_cons]
    omega

theorem label_of_short {s : List Char} (hs : s.length ≤ 3) : label s = stars := if_pos hs

/-- A longer label keeps its first character. -/
theorem label_of_long {s : List Char} (hs : 3 < s.length) :
    ∃ c, s.head? = some c ∧ label s = c :: stars := by
  have hne : s ≠ [] := List.ne_nil_of_length_pos (by omega)
  refine ⟨s.head hne, List.head?_eq_some_head hne, ?_⟩
  rw [label, if_neg (by omega), List.take_one, List.head?_eq_some_head hne]
  rfl

theorem label_eq_iff (first second : List Char) :
    label first = label second ↔ SameStart first second := by
  rw [masked_eq_iff (fun _ hs => label_of_short hs), SameStart]
  · refine or_congr_right (and_congr_right fun hfirst => and_congr_right fun hsecond => ?_)
    obtain ⟨c, hc, hmasked⟩ := label_of_long hfirst
    obtain ⟨c', hc', hmasked'⟩ := label_of_long hsecond
    simp [hmasked, hmasked', hc, hc']
  · intro s hs
    obtain ⟨c, -, hmasked⟩ := label_of_long hs
    rw [hmasked, List.length_cons]
    omega

/-- Masking brings nothing but stars into a local part. -/
theorem mem_of_mem_localText {c : Char} (hc : c ∉ stars) {s : List Char} (hmem : c ∈ localText s) :
    c ∈ s := by
  rw [localText] at hmem
  split at hmem
  · exact absurd hmem hc
  · rcases List.mem_append.mp hmem with hfront | hlast
    · exact List.mem_of_mem_take ((List.mem_append.mp hfront).resolve_right hc)
    · exact List.mem_of_mem_drop hlast

theorem mem_of_mem_label {c : Char} (hc : c ∉ stars) {s : List Char} (hmem : c ∈ label s) :
    c ∈ s := by
  rw [label] at hmem
  split at hmem
  · exact absurd hmem hc
  · exact List.mem_of_mem_take ((List.mem_append.mp hmem).resolve_right hc)

/-! The domain -/

/-- All labels are masked alike except the last, which stays. -/
theorem labels_append_singleton (front : List (List Char)) (last : List Char) :
    labels (front ++ [last]) = front.map label ++ [last] := by
  induction front with
  | nil => rfl
  | cons head tail ih =>
      have hne : tail ++ [last] ≠ [] := List.concat_ne_nil last tail
      obtain ⟨next, rest, htail⟩ := List.exists_cons_of_ne_nil hne
      rw [List.cons_append, htail, labels, ← htail, ih, List.map_cons, List.cons_append]

theorem labels_ne_nil {parts : List (List Char)} (hparts : parts ≠ []) : labels parts ≠ [] := by
  rw [← List.dropLast_append_getLast hparts, labels_append_singleton]
  exact List.append_ne_nil_of_right_ne_nil _ (List.cons_ne_nil _ [])

/-- Masking brings nothing but stars into the labels. -/
theorem exists_mem_of_mem_labels {c : Char} (hc : c ∉ stars) {parts : List (List Char)}
    {masked : List Char} (hmasked : masked ∈ labels parts) (hmem : c ∈ masked) :
    ∃ part ∈ parts, c ∈ part := by
  rcases List.eq_nil_or_concat parts with rfl | ⟨front, last, rfl⟩
  · cases hmasked
  · rw [List.concat_eq_append] at hmasked ⊢
    rw [labels_append_singleton] at hmasked
    rcases List.mem_append.mp hmasked with hfront | hlast
    · obtain ⟨part, hpart, rfl⟩ := List.mem_map.mp hfront
      exact ⟨part, List.mem_append_left _ hpart, mem_of_mem_label hc hmem⟩
    · exact ⟨masked, List.mem_append_right front hlast, hmem⟩

theorem dot_not_mem_of_mem_labels {parts : List (List Char)}
    (hparts : ∀ part ∈ parts, '.' ∉ part) : ∀ masked ∈ labels parts, '.' ∉ masked := by
  intro masked hmasked hdot
  obtain ⟨part, hpart, hmem⟩ := exists_mem_of_mem_labels (by decide) hmasked hdot
  exact hparts part hpart hmem

theorem labels_eq_iff {first second : List (List Char)} (hfirst : first ≠ [])
    (hsecond : second ≠ []) : labels first = labels second ↔ SameLabels first second := by
  obtain ⟨front, last, rfl⟩ := (List.eq_nil_or_concat first).resolve_left hfirst
  obtain ⟨others, last', rfl⟩ := (List.eq_nil_or_concat second).resolve_left hsecond
  simp only [List.concat_eq_append, labels_append_singleton]
  have halike : front.map label = others.map label ↔ List.Forall₂ SameStart front others := by
    rw [← List.forall₂_eq_eq_eq, List.forall₂_map_left_iff, List.forall₂_map_right_iff]
    simp only [label_eq_iff]
  constructor
  · intro hsame
    obtain ⟨hfront, hlast⟩ := List.append_inj' hsame rfl
    have hothers := halike.mp hfront
    exact ⟨by simpa using hothers.length_eq, by simpa using hlast, by simpa using hothers⟩
  · rintro ⟨-, hlast, hothers⟩
    rw [halike.mpr (by simpa using hothers)]
    simpa using hlast

/-- A masked domain tells how many labels there are, the last one and how the others begin. -/
theorem domainText_eq_iff (first second : List Char) :
    domainText first = domainText second ↔
      SameLabels (first.splitOn '.') (second.splitOn '.') := by
  have hfirst := List.splitOn_ne_nil '.' first
  have hsecond := List.splitOn_ne_nil '.' second
  rw [domainText, domainText, Lists.intercalate_inj (labels_ne_nil hfirst) (labels_ne_nil hsecond)
    (dot_not_mem_of_mem_labels Lists.not_mem_of_mem_splitOn)
    (dot_not_mem_of_mem_labels Lists.not_mem_of_mem_splitOn), labels_eq_iff hfirst hsecond]

/-! The address -/

theorem at_not_mem_localText (address : String) : '@' ∉ localText (localPart address) :=
  fun hat => at_not_mem_localPart address (mem_of_mem_localText (by decide) hat)

theorem at_not_mem_localStart (address : String) : '@' ∉ (localPart address).take 1 ++ stars := by
  intro hat
  rcases List.mem_append.mp hat with hkept | hstar
  · exact at_not_mem_localPart address (List.mem_of_mem_take hkept)
  · exact absurd hstar (by decide)

section

variable {address : String}

theorem email_standard (hat : '@' ∈ address.toList) :
    email .standard address =
      String.ofList (localText (localPart address) ++ '@' :: domainText (domainPart address)) := by
  simp [email, emailText, List.ne_nil_of_mem hat, splitFirst?_toList hat]

theorem email_minimal (hat : '@' ∈ address.toList) :
    email .minimal address =
      String.ofList ((localPart address).take 1 ++ stars ++ '@' :: domainPart address) := by
  simp [email, emailText, List.ne_nil_of_mem hat, splitFirst?_toList hat]

theorem email_complete (hat : '@' ∈ address.toList) :
    email .complete address = String.ofList hidden := by
  simp [email, emailText, List.ne_nil_of_mem hat]

end

theorem email_standard_eq_iff {first second : String} (hfirst : '@' ∈ first.toList)
    (hsecond : '@' ∈ second.toList) :
    email .standard first = email .standard second ↔
      SameEnds (localPart first) (localPart second) ∧
        SameLabels (domainLabels first) (domainLabels second) := by
  rw [email_standard hfirst, email_standard hsecond, String.ofList_inj,
    append_at_inj (at_not_mem_localText first) (at_not_mem_localText second), localText_eq_iff,
    domainText_eq_iff]
  rfl

theorem email_minimal_eq_iff {first second : String} (hfirst : '@' ∈ first.toList)
    (hsecond : '@' ∈ second.toList) :
    email .minimal first = email .minimal second ↔
      domainPart first = domainPart second ∧
        (localPart first).head? = (localPart second).head? := by
  rw [email_minimal hfirst, email_minimal hsecond, String.ofList_inj,
    append_at_inj (at_not_mem_localStart first) (at_not_mem_localStart second),
    List.append_left_inj, and_comm, List.take_one, List.take_one]
  cases (localPart first).head? <;> cases (localPart second).head? <;> simp

/-- What two masked addresses have in common, exactly.  Under the standard
pattern it is how their local parts begin and end and how the labels of their
domains begin, under the minimal pattern the first character and the domain, and
under the complete pattern nothing. -/
theorem email_eq_iff (first second : String) (hfirst : '@' ∈ first.toList)
    (hsecond : '@' ∈ second.toList) :
    (email .standard first = email .standard second ↔
        SameEnds (localPart first) (localPart second) ∧
          SameLabels (domainLabels first) (domainLabels second)) ∧
      (email .minimal first = email .minimal second ↔
        domainPart first = domainPart second ∧
          (localPart first).head? = (localPart second).head?) ∧
      email .complete first = email .complete second ∧
      ∀ name : Option String, name ≠ some "minimal" → name ≠ some "complete" →
        ∀ value, email (Pattern.ofRule name) value = email .standard value := by
  refine ⟨email_standard_eq_iff hfirst hsecond, email_minimal_eq_iff hfirst hsecond, ?_, ?_⟩
  · rw [email_complete hfirst, email_complete hsecond]
  · intro name hminimal hcomplete value
    rw [(Pattern.ofRule_eq_standard_iff name).mpr ⟨hminimal, hcomplete⟩]

/-- Addresses of different people at different domains that only the standard
pattern makes one. -/
theorem email_eq_iff_of_like_addresses :
    '@' ∈ "alice@mail.example.com".toList ∧ '@' ∈ "anne@main.east.com".toList ∧
      email .standard "alice@mail.example.com" = email .standard "anne@main.east.com" ∧
      email .minimal "alice@mail.example.com" ≠ email .minimal "anne@main.east.com" := by
  have hfirst : '@' ∈ "alice@mail.example.com".toList := by decide
  have hsecond : '@' ∈ "anne@main.east.com".toList := by decide
  obtain ⟨hstandard, hminimal, -, -⟩ := email_eq_iff _ _ hfirst hsecond
  refine ⟨hfirst, hsecond, hstandard.mpr ⟨by decide, by decide⟩, fun hsame => ?_⟩
  exact absurd (hminimal.mp hsame).1 (by decide)

end ContactPrivacy.Mask
