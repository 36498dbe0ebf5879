/-
Natural numbers written in their digits.  Unless there are too many of them, the
lenient reader reads the number back.
-/
import ContactPrivacy.Validation.Scalar
import Mathlib.Data.List.Basic
import Mathlib.Data.List.TakeWhile
import Mathlib.Tactic.IntervalCases

namespace ContactPrivacy.Decimal

/-- The digits of a number stand for it. -/
theorem ofDigits_toDigits (n : Nat) : ofDigits (Nat.toDigits 10 n) = n := by
  have hread : Nat.ofDigitChars 10 (Nat.toDigits 10 n) 0 = n := Nat.ofDigitChars_ten_toDigits
  rwa [Nat.ofDigitChars_eq_foldl] at hread

theorem isDigit_of_mem_toDigits {n : Nat} {c : Char} (hc : c ∈ Nat.toDigits 10 n) :
    isDigit c = true :=
  Nat.isDigit_of_mem_toDigits (by decide) (by decide) hc

theorem isWhiteSpace_of_isDigit {c : Char} (hdigit : isDigit c = true) :
    Text.isWhiteSpace c = false := by
  simp only [isDigit, Bool.and_eq_true, decide_eq_true_eq] at hdigit
  have hlow : 48 ≤ c.toNat := hdigit.1
  have hhigh : c.toNat ≤ 57 := hdigit.2
  simp only [Text.isWhiteSpace, Bool.or_eq_false_iff, Bool.and_eq_false_iff,
    decide_eq_false_iff_not, beq_eq_false_iff_ne]
  omega

/-- Only zero is written with a zero in front. -/
theorem head?_toDigits_ne_zero {n : Nat} (hpos : 0 < n) :
    (Nat.toDigits 10 n).head? ≠ some '0' := by
  induction n using Nat.strongRecOn with
  | ind n ih =>
      rw [Nat.toDigits_eq_if (by decide)]
      split
      · next hsmall => interval_cases n <;> decide
      · rw [List.head?_append_of_ne_nil _ Nat.toDigits_ne_nil]
        exact ih (n / 10) (by omega) (by omega)

section Digits

variable {s : List Char} (hdigits : ∀ c ∈ s, isDigit c = true)

include hdigits

/-- No other character is among digits. -/
theorem not_mem_of_isDigit_eq_false {c : Char} (hc : isDigit c = false) : c ∉ s := fun hmem => by
  rw [hdigits c hmem] at hc
  cases hc

theorem dropZeroFraction_eq_self : dropZeroFraction s = s := by
  have hpoint : s.dropWhile (· != '.') = [] := List.dropWhile_eq_nil_iff.mpr fun c hc => by
    have hne : c ≠ '.' := fun heq => not_mem_of_isDigit_eq_false hdigits (by decide) (heq ▸ hc)
    simp [hne]
  rw [dropZeroFraction, hpoint]

/-- Digits without a zero in front stay as they are. -/
theorem dropLeadingZeros?_eq_some (hne : s ≠ []) (hzero : s.head? ≠ some '0') :
    dropLeadingZeros? s = some s := by
  obtain ⟨c, rest, rfl⟩ := List.exists_cons_of_ne_nil hne
  have hc : c ≠ '0' := fun heq => hzero (congrArg some heq)
  rw [dropLeadingZeros?, if_neg hc, if_pos (hdigits c List.mem_cons_self)]

theorem readDigits_eq_ok (hne : s ≠ []) (hzero : s.head? ≠ some '0')
    (hshort : s.length ≤ mostDigits) : readDigits 0 s = .ok (ofDigits s) := by
  have hrun : s.takeWhile isDigit = s := List.takeWhile_eq_self_iff.mpr hdigits
  have hrest : s.dropWhile isDigit = [] := List.dropWhile_eq_nil_iff.mpr hdigits
  simp [readDigits, hrun, hrest, hne, hzero, Nat.not_lt.mpr hshort]

/-- Digits without a zero in front are read as their number. -/
theorem readLenient_eq_ok (hne : s ≠ []) (hzero : s.head? ≠ some '0')
    (hshort : s.length ≤ mostDigits) : readLenient s = .ok (ofDigits s : Int) := by
  have hread := readDigits_eq_ok hdigits hne hzero hshort
  have hdropped := dropLeadingZeros?_eq_some hdigits hne hzero
  have hplain : dropUnderscores (dropZeroFraction s) = s := by
    rw [dropZeroFraction_eq_self hdigits]
    exact dropUnderscores_eq_self (not_mem_of_isDigit_eq_false hdigits (by decide))
  obtain ⟨c, rest, rfl⟩ := List.exists_cons_of_ne_nil hne
  have hminus : c ≠ '-' := by
    rintro rfl
    exact absurd (hdigits '-' List.mem_cons_self) (by decide)
  have hplus : c ≠ '+' := by
    rintro rfl
    exact absurd (hdigits '+' List.mem_cons_self) (by decide)
  unfold readLenient
  split
  next sign body hsplit =>
    split at hsplit
    · next heq => exact (hminus (List.cons.inj heq).1).elim
    · next heq => exact (hplus (List.cons.inj heq).1).elim
    · cases hsplit
      rw [hdropped]
      dsimp only
      rw [hplain, List.nil_append, readPlain, hread]
      · rfl
      · rintro digits heq
        exact hminus (List.cons.inj heq).1

theorem stripEnds_eq_self : Text.stripEnds Text.isWhiteSpace s = s := by
  have hkeeps : ∀ t : List Char, (∀ c ∈ t, c ∈ s) → t.dropWhile Text.isWhiteSpace = t := by
    rintro (_ | ⟨c, rest⟩) hsub
    · rfl
    · have hc := isWhiteSpace_of_isDigit (hdigits c (hsub c List.mem_cons_self))
      rw [List.dropWhile_cons_of_neg (by simp [hc])]
  rw [Text.stripEnds, hkeeps s fun _ hc => hc,
    hkeeps s.reverse fun _ hc => List.mem_reverse.mp hc, List.reverse_reverse]

end Digits

end ContactPrivacy.Decimal

namespace ContactPrivacy.Reading

open Decimal

/-- A number in its digits is read as an integer. -/
theorem int_toString {n : Nat} (hn : n < 10 ^ mostDigits) :
    int (.string (toString n)) = .accepted (n : Int) := by
  have hdigits : ∀ c ∈ Nat.toDigits 10 n, isDigit c = true := fun _ => isDigit_of_mem_toDigits
  have htext : (toString n).toList = Nat.toDigits 10 n := Nat.toList_repr
  have hlenient : readLenient (Nat.toDigits 10 n) = .ok (n : Int) := by
    rcases Nat.eq_zero_or_pos n with rfl | hpos
    · rfl
    · have hshort : (Nat.toDigits 10 n).length ≤ mostDigits :=
        (Nat.length_toDigits_le_iff (by decide) (by decide)).mpr hn
      rw [readLenient_eq_ok hdigits Nat.toDigits_ne_nil (head?_toDigits_ne_zero hpos) hshort,
        ofDigits_toDigits]
  rw [int, intOfText, htext, stripEnds_eq_self hdigits, hlenient]
  rfl

end ContactPrivacy.Reading
