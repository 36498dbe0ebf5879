/-
A masked list of addresses, entry by entry.  Masking brings no comma into an
entry and no white space to its ends, so a masked list is cut at its commas
into the masked entries.
-/
import ContactPrivacy.Proofs.Mask.Email
import ContactPrivacy.Proofs.Text.Blank

namespace ContactPrivacy.Mask

open Text (Trimmed isBlank stripEnds)

/-- The entries of a comma-separated text, without the white space around them. -/
def entries (list : String) : List String :=
  (list.toList.splitOn ',').map fun entry => String.ofList (stripEnds isBlank entry)

/-! The masked form of one address -/

/-- A masked text is the text itself, the fixed one, or put together again from
what is shown before and after the first at sign. -/
theorem emailText_cases (pattern : Pattern) (s : List Char) :
    emailText pattern s = s ∨ emailText pattern s = hidden ∨
      ∃ front back, s = front ++ '@' :: back ∧
        (emailText pattern s = front.take 1 ++ stars ++ '@' :: back ∨
          emailText pattern s = localText front ++ '@' :: domainText back) := by
  by_cases hs : s = []
  · exact Or.inl (by simp [emailText, hs])
  · cases hparts : splitFirst? '@' s with
    | none => cases pattern <;> simp [emailText, hs, hparts]
    | some parts =>
        obtain ⟨hsplit, -⟩ := (splitFirst?_eq_some_iff '@' s parts.1 parts.2).mp hparts
        cases pattern with
        | minimal => exact Or.inr (Or.inr ⟨_, _, hsplit, Or.inl (by simp [emailText, hs, hparts])⟩)
        | standard => exact Or.inr (Or.inr ⟨_, _, hsplit, Or.inr (by simp [emailText, hs, hparts])⟩)
        | complete => exact Or.inr (Or.inl (by simp [emailText, hs]))

/-- Masking brings nothing but dots and stars into a domain. -/
theorem mem_of_mem_domainText {c : Char} (hc : c ∉ '.' :: stars) {s : List Char}
    (hmem : c ∈ domainText s) : c ∈ s := by
  have hdot : c ∉ ['.'] := fun h => hc (List.mem_of_mem_take (i := 1) h)
  obtain ⟨masked, hmasked, hshown⟩ := (Lists.mem_intercalate_iff hdot _).mp hmem
  have hpart := exists_mem_of_mem_labels (fun h => hc (List.mem_cons_of_mem '.' h)) hmasked hshown
  rwa [← Lists.mem_intercalate_iff hdot, List.intercalate_splitOn] at hpart

theorem comma_not_mem_emailText {s : List Char} (hs : ',' ∉ s) (pattern : Pattern) :
    ',' ∉ emailText pattern s := by
  rcases emailText_cases pattern s with h | h | ⟨front, back, rfl, h⟩
  · rwa [h]
  · rw [h]
    decide
  · rw [List.mem_append, not_or] at hs
    obtain ⟨hfront, hback⟩ := hs
    have hdomain : ',' ∉ back := fun hc => hback (List.mem_cons_of_mem '@' hc)
    have hstars : ',' ∉ stars := by decide
    rcases h with h | h
    · have hkept : ',' ∉ front.take 1 := fun hc => hfront (List.mem_of_mem_take hc)
      simp [h, hkept, hstars, hdomain]
    · have hkept : ',' ∉ localText front := fun hc => hfront (mem_of_mem_localText hstars hc)
      have hmasked : ',' ∉ domainText back := fun hc =>
        hdomain (mem_of_mem_domainText (by decide) hc)
      simp [h, hkept, hmasked]

/-- A masked domain ends as the domain does. -/
theorem getLast?_domainText (s : List Char) : (domainText s).getLast? = s.getLast? := by
  have hwhole : ['.'].intercalate (s.splitOn '.') = s := List.intercalate_splitOn '.'
  rw [domainText]
  rcases List.eq_nil_or_concat (s.splitOn '.') with hnil | ⟨front, last, hparts⟩
  · exact absurd hnil (List.splitOn_ne_nil '.' s)
  · rw [List.concat_eq_append] at hparts
    rw [hparts] at hwhole ⊢
    rw [labels_append_singleton, ← hwhole]
    rcases eq_or_ne front [] with rfl | hfront
    · rfl
    · have hmapped : front.map label ≠ [] := by simpa using hfront
      rw [Lists.intercalate_append _ hmapped (List.cons_ne_nil last []),
        Lists.intercalate_append _ hfront (List.cons_ne_nil last [])]
      simp only [List.append_assoc, List.singleton_append, List.getLast?_append_cons]

/-- A masked local part begins as the local part does, or with a star. -/
theorem head?_localText (s : List Char) :
    (localText s).head? = some '*' ∨ (localText s).head? = s.head? := by
  rcases Nat.lt_or_ge 2 s.length with hlong | hshort
  · obtain ⟨c, d, hc, -, hmasked⟩ := localText_of_long hlong
    exact Or.inr (by rw [hmasked, hc]; rfl)
  · exact Or.inl (by rw [localText_of_short hshort]; rfl)

theorem head?_take_one_append_stars (s : List Char) :
    (s.take 1 ++ stars).head? = some '*' ∨ (s.take 1 ++ stars).head? = s.head? := by
  cases s with
  | nil => exact Or.inl rfl
  | cons c rest => exact Or.inr rfl

/-- An address keeps its ends if its local part keeps the first character or
gets a star there and its domain keeps the last. -/
theorem trimmed_append_at {front back masked domain : List Char}
    (haddress : Trimmed isBlank (front ++ '@' :: back))
    (hmasked : masked.head? = some '*' ∨ masked.head? = front.head?)
    (hdomain : domain.getLast? = back.getLast?) : Trimmed isBlank (masked ++ '@' :: domain) := by
  constructor
  · intro c hc
    rcases hmasked with hstar | hsame
    · rw [List.head?_append, hstar] at hc
      obtain rfl : '*' = c := Option.some.inj hc
      decide
    · rw [List.head?_append, hsame] at hc
      exact haddress.first c (by rwa [List.head?_append])
  · have hlast := haddress.last
    rwa [List.getLast?_append_cons, List.getLast?_cons, ← hdomain, ← List.getLast?_cons,
      ← List.getLast?_append_cons masked] at hlast

theorem trimmed_hidden : Trimmed isBlank hidden := by
  constructor <;> intro c hc
  all_goals
    obtain rfl : '*' = c := Option.some.inj hc
    decide

theorem trimmed_emailText {s : List Char} (hs : Trimmed isBlank s) (pattern : Pattern) :
    Trimmed isBlank (emailText pattern s) := by
  rcases emailText_cases pattern s with h | h | ⟨front, back, rfl, h | h⟩
  · rwa [h]
  · rw [h]
    exact trimmed_hidden
  · rw [h]
    exact trimmed_append_at hs (head?_take_one_append_stars front) rfl
  · rw [h]
    exact trimmed_append_at hs (head?_localText front) (getLast?_domainText back)

/-! The entries -/

def maskedEntry (pattern : Pattern) (entry : List Char) : List Char :=
  emailText pattern (stripEnds isBlank entry)

theorem emailListText_eq (pattern : Pattern) (s : List Char) :
    emailListText pattern s =
      [',', ' '].intercalate ((s.splitOn ',').map (maskedEntry pattern)) := by
  by_cases hs : s = []
  · subst hs
    simp [emailListText, maskedEntry, emailText]
  · rw [emailListText, if_neg hs]
    rfl

theorem comma_not_mem_maskedEntry {entry : List Char} (hentry : ',' ∉ entry) (pattern : Pattern) :
    ',' ∉ maskedEntry pattern entry :=
  comma_not_mem_emailText (fun hc => hentry (Text.mem_of_mem_stripEnds hc)) pattern

theorem stripEnds_maskedEntry (pattern : Pattern) (entry : List Char) :
    stripEnds isBlank (maskedEntry pattern entry) = maskedEntry pattern entry :=
  Text.stripEnds_of_trimmed (trimmed_emailText (Text.trimmed_stripEnds isBlank entry) pattern)

/-- A masked list is cut at its commas into the masked entries, each later one
with a blank in front. -/
theorem splitOn_emailListText (pattern : Pattern) (s : List Char) {head : List Char}
    {tail : List (List Char)} (hparts : s.splitOn ',' = head :: tail) :
    (emailListText pattern s).splitOn ',' =
      maskedEntry pattern head :: tail.map fun entry => ' ' :: maskedEntry pattern entry := by
  have hfree : ∀ entry ∈ head :: tail, ',' ∉ maskedEntry pattern entry := by
    rw [← hparts]
    exact fun entry hentry =>
      comma_not_mem_maskedEntry (Lists.not_mem_of_mem_splitOn entry hentry) pattern
  rw [emailListText_eq, hparts, List.map_cons, Lists.intercalate_separator_append,
    List.splitOn_intercalate ',' (by simpa using hfree) (List.cons_ne_nil _ _), List.map_map]
  rfl

theorem stripped_emailListText (pattern : Pattern) (s : List Char) :
    ((emailListText pattern s).splitOn ',').map (stripEnds isBlank) =
      (s.splitOn ',').map (maskedEntry pattern) := by
  obtain ⟨head, tail, hparts⟩ := List.exists_cons_of_ne_nil (List.splitOn_ne_nil ',' s)
  have hblank : isBlank ' ' = true := by decide
  rw [splitOn_emailListText pattern s hparts, hparts]
  simp [stripEnds_maskedEntry, Text.stripEnds_cons_of_pos hblank]

theorem emailListText_append (pattern : Pattern) (s t : List Char) :
    emailListText pattern (s ++ ',' :: t) =
      emailListText pattern s ++ [',', ' '] ++ emailListText pattern t := by
  have hentries : ∀ u : List Char, (u.splitOn ',').map (maskedEntry pattern) ≠ [] := by
    simp [List.splitOn_ne_nil]
  simp only [emailListText_eq, List.splitOn_append_cons_self, List.map_append]
  exact Lists.intercalate_append _ (hentries s) (hentries t)

/-- Masking a list keeps its entries.  The masked list has as many of them, in
the same order, each the masked form of its own, and two lists put together are
masked one after the other. -/
theorem emailList_keeps_entries (pattern : Pattern) :
    (∀ list, entries (emailList pattern list) = (entries list).map (email pattern)) ∧
      ∀ first second, emailList pattern (first ++ "," ++ second) =
        emailList pattern first ++ ", " ++ emailList pattern second := by
  constructor
  · intro list
    have htexts := congrArg (List.map String.ofList)
      (stripped_emailListText pattern list.toList)
    simpa [entries, emailList, email, maskedEntry, Function.comp_def] using htexts
  · intro first second
    have happend := emailListText_append pattern first.toList second.toList
    simp [emailList, ← String.toList_inj, happend]

end ContactPrivacy.Mask
