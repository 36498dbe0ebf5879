/-
Lists in general: the last items of a list, a run of items cut in two, and lists put
together with a separator between each two of them.
-/
import Mathlib.Data.List.DropRight

namespace ContactPrivacy.Lists

variable {α β : Type}

/-! The last items of a list -/

theorem length_rtake (items : List α) (n : Nat) :
    (items.rtake n).length = min n items.length := by
  rw [List.rtake, List.length_drop]
  omega

theorem length_rtake_of_le {items : List α} {n : Nat} (hle : n ≤ items.length) :
    (items.rtake n).length = n := by
  rw [length_rtake, Nat.min_eq_left hle]

theorem map_rtake (f : α → β) (items : List α) (n : Nat) :
    (items.map f).rtake n = (items.rtake n).map f := by
  rw [List.rtake, List.rtake, List.length_map, List.map_drop]

/-- What was dropped before an item came would be dropped with it. -/
theorem rtake_concat_rtake (items : List α) (n : Nat) (item : α) :
    (items.rtake n ++ [item]).rtake n = (items ++ [item]).rtake n := by
  cases n with
  | zero => rw [List.rtake_zero, List.rtake_zero]
  | succ n =>
      rw [List.rtake_concat_succ, List.rtake_concat_succ]
      simp only [List.rtake_eq_reverse_take_reverse, List.reverse_reverse, List.take_take,
        Nat.min_eq_left (Nat.le_succ n)]

/-- A run of items and the run behind it make one run. -/
theorem take_append_take (items : List α) {start length stop : Nat}
    (hle : start + length ≤ stop) :
    (items.drop start).take length ++ (items.drop (start + length)).take (stop - (start + length)) =
      (items.drop start).take (stop - start) := by
  rw [← List.drop_drop, ← List.take_add]
  congr 1
  omega

/-- Parts of two lists make both together only if they make each. -/
theorem append_eq_append_iff_of_sublist {first second whole other : List α}
    (hfirst : first.Sublist whole) (hsecond : second.Sublist other) :
    first ++ second = whole ++ other ↔ first = whole ∧ second = other := by
  refine ⟨fun hsame => ?_, fun ⟨hleft, hright⟩ => by rw [hleft, hright]⟩
  have hlength := congrArg List.length hsame
  rw [List.length_append, List.length_append] at hlength
  have hleft := hfirst.length_le
  have hright := hsecond.length_le
  exact ⟨hfirst.eq_of_length (by omega), hsecond.eq_of_length (by omega)⟩

/-- As many items are kept of a part as of the whole only if nothing is missing from
it, or it fills what there is room for. -/
theorem min_length_eq_iff_of_sublist {part whole : List α} (hpart : part.Sublist whole)
    (room : Int) :
    min room (whole.length : Int) = min room part.length ↔
      part = whole ∨ room ≤ part.length := by
  have hle := hpart.length_le
  constructor
  · intro hsame
    by_cases hfull : room ≤ part.length
    · exact Or.inr hfull
    · exact Or.inl (hpart.eq_of_length (by omega))
  · rintro (rfl | hfull)
    · rfl
    · omega

/-! Lists put together -/

theorem intercalate_append (between : List α) {parts others : List (List α)}
    (hparts : parts ≠ []) (hothers : others ≠ []) :
    between.intercalate (parts ++ others) =
      between.intercalate parts ++ between ++ between.intercalate others := by
  induction parts with
  | nil => exact absurd rfl hparts
  | cons head tail ih =>
      rcases eq_or_ne tail [] with rfl | htail
      · rw [List.singleton_append, List.intercalate_cons_of_ne_nil hothers,
          List.intercalate_singleton]
      · rw [List.cons_append,
          List.intercalate_cons_of_ne_nil (List.append_ne_nil_of_left_ne_nil htail others),
          ih htail, List.intercalate_cons_of_ne_nil htail]
        simp only [List.append_assoc]

theorem intercalate_append_head (between lead head : List α) (tail : List (List α)) :
    between.intercalate ((lead ++ head) :: tail) = lead ++ between.intercalate (head :: tail) := by
  cases tail with
  | nil => simp only [List.intercalate_singleton]
  | cons next rest => simp only [List.intercalate_cons_cons, List.append_assoc]

/-- What follows each separator begins the next part. -/
theorem intercalate_separator_append (separator : α) (lead head : List α)
    (tail : List (List α)) :
    (separator :: lead).intercalate (head :: tail) =
      [separator].intercalate (head :: tail.map (lead ++ ·)) := by
  induction tail generalizing head with
  | nil => simp only [List.map_nil, List.intercalate_singleton]
  | cons next rest ih =>
      rw [List.intercalate_cons_cons, ih next, List.map_cons, List.intercalate_cons_cons,
        intercalate_append_head]
      simp

/-- What is not put between the parts is in one of them. -/
theorem mem_intercalate_iff {between : List α} {item : α} (hitem : item ∉ between)
    (parts : List (List α)) : item ∈ between.intercalate parts ↔ ∃ part ∈ parts, item ∈ part := by
  induction parts with
  | nil => simp
  | cons head tail ih =>
      rcases eq_or_ne tail [] with rfl | htail
      · simp
      · simp [List.intercalate_cons_of_ne_nil htail, ih, hitem]

variable [DecidableEq α] {separator : α}

/-- No part holds the item that a list is split at. -/
theorem not_mem_of_mem_splitOn {items : List α} :
    ∀ part ∈ items.splitOn separator, separator ∉ part := by
  induction items with
  | nil => simp
  | cons item rest ih =>
      rw [List.splitOn_cons_eq_if_modifyHead]
      obtain ⟨head, tail, hparts⟩ :=
        List.exists_cons_of_ne_nil (List.splitOn_ne_nil separator rest)
      rw [hparts] at ih ⊢
      by_cases hitem : item = separator
      · simpa [hitem] using ih
      · simpa [hitem, Ne.symm hitem] using ih

/-- A list put together with a separator tells the parts that do not hold it. -/
theorem intercalate_inj {parts others : List (List α)} (hparts : parts ≠ [])
    (hothers : others ≠ []) (hfree : ∀ part ∈ parts, separator ∉ part)
    (hfree' : ∀ part ∈ others, separator ∉ part) :
    [separator].intercalate parts = [separator].intercalate others ↔ parts = others := by
  refine ⟨fun hjoined => ?_, fun hsame => by rw [hsame]⟩
  rw [← List.splitOn_intercalate separator hfree hparts, hjoined,
    List.splitOn_intercalate separator hfree' hothers]

end ContactPrivacy.Lists
