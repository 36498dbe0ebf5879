/-
Texts that neither begin nor end in a character of a class.  Cutting the class
off both ends of a text leaves such a text, and a text that is one stays.
-/
import Mathlib.Data.List.DropRight
import ContactPrivacy.Text.Class

namespace ContactPrivacy.Text

variable {p : Char → Bool} {s : List Char}

/-- The outer characters of a text are not of a class. -/
structure Trimmed (p : Char → Bool) (s : List Char) : Prop where
  first : ∀ c ∈ s.head?, p c = false
  last : ∀ c ∈ s.getLast?, p c = false

theorem trimmed_stripEnds (p : Char → Bool) (s : List Char) : Trimmed p (stripEnds p s) := by
  have hprefix : stripEnds p s <+: s.dropWhile p := List.rdropWhile_prefix p (s.dropWhile p)
  constructor
  · intro c hc
    have hhead : (s.dropWhile p).head? = some c := by
      obtain ⟨rest, hrest⟩ := List.head?_eq_some_iff.mp hc
      obtain ⟨behind, hbehind⟩ := hprefix
      rw [← hbehind, hrest]
      rfl
    have hnot := List.head?_dropWhile_not p s
    rw [hhead] at hnot
    simpa using hnot
  · intro c hc
    obtain ⟨hne, rfl⟩ := List.mem_getLast?_eq_getLast hc
    exact Bool.eq_false_iff.mpr (List.rdropWhile_last_not p (s.dropWhile p) hne)

theorem stripEnds_of_trimmed (hs : Trimmed p s) : stripEnds p s = s := by
  have hfirst : s.dropWhile p = s := by
    cases s with
    | nil => rfl
    | cons c rest => exact List.dropWhile_cons_of_neg (by simp [hs.first c rfl])
  have hlast : s.rdropWhile p = s := by
    refine List.rdropWhile_eq_self_iff.mpr fun hne => ?_
    simp [hs.last _ (List.getLast?_eq_some_getLast hne)]
  exact (congrArg (List.rdropWhile p) hfirst).trans hlast

theorem mem_of_mem_stripEnds {c : Char} (hc : c ∈ stripEnds p s) : c ∈ s :=
  (List.dropWhile_sublist p).mem ((List.rdropWhile_prefix p (s.dropWhile p)).mem hc)

/-- A character of the class does not count at the front. -/
theorem stripEnds_cons_of_pos {c : Char} (hc : p c = true) :
    stripEnds p (c :: s) = stripEnds p s := by
  rw [stripEnds, List.dropWhile_cons_of_pos hc, ← stripEnds]

end ContactPrivacy.Text
