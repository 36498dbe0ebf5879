/-
Whether a value passes through a policy or is masked by it: one of the two
holds of every value and field, and only a masked field may be revealed.
-/
import ContactPrivacy.Contact

namespace ContactPrivacy

/-- The text of a value that is there and not empty. -/
theorem filter_nonempty {raw : String} (hraw : raw ≠ "") :
    (some raw).filter (· ≠ "") = some raw :=
  Option.filter_some_pos (by simpa using hraw)

namespace Mask

theorem hidden_ne_nil : hidden ≠ [] := by decide

theorem groupStars_ne_nil : groupStars ≠ [] := by decide

/-- Only nothing is masked as nothing. -/
theorem emailText_eq_nil_iff (pattern : Pattern) (s : List Char) :
    emailText pattern s = [] ↔ s = [] := by
  by_cases hs : s = []
  · simp [emailText, hs]
  · have hmasked : emailText pattern s ≠ [] := by
      cases hparts : splitFirst? '@' s with
      | none => cases pattern <;> simp [emailText, hs, hparts, hidden_ne_nil]
      | some parts => cases pattern <;> simp [emailText, hs, hparts, hidden_ne_nil]
    exact iff_of_false hmasked hs

theorem phoneText_eq_nil_iff (pattern : Pattern) (s : List Char) :
    phoneText pattern s = [] ↔ s = [] := by
  by_cases hs : s = []
  · simp [phoneText, hs]
  · have hmasked : phoneText pattern s ≠ [] := by
      cases hdigits : Text.decimalDigits s with
      | nil => cases pattern <;> simp [phoneText, hs, hdigits, hidden_ne_nil]
      | cons digit rest =>
          cases pattern <;> simp [phoneText, hs, hdigits, hidden_ne_nil, groupStars_ne_nil,
            stars, apply_ite (· = ([] : List Char))]
    exact iff_of_false hmasked hs

end Mask

/-- Only the empty text is masked as the empty text. -/
theorem Field.mask_eq_empty_iff (field : Field) (pattern : Pattern) (value : String) :
    field.mask pattern value = "" ↔ value = "" := by
  have hemail : Mask.email pattern value = "" ↔ value = "" := by
    simp [Mask.email, Mask.emailText_eq_nil_iff]
  have hphone : Mask.phone pattern value = "" ↔ value = "" := by
    simp [Mask.phone, Mask.phoneText_eq_nil_iff]
  cases field with
  | known t =>
      cases t with
      | email => exact hemail
      | phone => exact hphone
  | other given => exact hphone

/-- The complete pattern leaves nothing of a text but that it is not empty. -/
theorem Field.mask_complete (field : Field) {raw : String} (hraw : raw ≠ "") :
    field.mask .complete raw = String.ofList Mask.hidden := by
  have hchars : raw.toList ≠ [] := by simpa using hraw
  cases field with
  | known dataType =>
      cases dataType <;> simp [Field.mask, Mask.email, Mask.emailText, Mask.phone,
        Mask.phoneText, hchars]
  | other given => simp [Field.mask, Mask.phone, Mask.phoneText, hchars]

namespace Policy

/-- A policy masks a value that is not empty if it masks the field. -/
def Masks (policy : Policy) (field : Field) (pattern : Pattern) (value : Option String)
    (raw : String) : Prop :=
  value = some raw ∧ raw ≠ "" ∧ policy.decide field = .masked pattern

/-- Missing and empty values pass through, and so do values of other fields. -/
def Passes (policy : Policy) (field : Field) (value : Option String) : Prop :=
  value.filter (· ≠ "") = none ∨ policy.decide field = .unmasked

theorem passes_or_masks (policy : Policy) (field : Field) (value : Option String) :
    policy.Passes field value ∨ ∃ pattern raw, policy.Masks field pattern value raw := by
  cases hdecide : policy.decide field with
  | unmasked => exact Or.inl (Or.inr hdecide)
  | masked pattern =>
      cases hvalue : value.filter (· ≠ "") with
      | none => exact Or.inl (Or.inl hvalue)
      | some raw =>
          obtain ⟨hraw, hne⟩ := Option.filter_eq_some_iff.mp hvalue
          exact Or.inr ⟨pattern, raw, hraw, by simpa using hne, hdecide⟩

theorem Passes.not_masked {policy : Policy} {field : Field} {value : Option String}
    (hpasses : policy.Passes field value) {pattern : Pattern} {raw : String}
    (hdecide : policy.decide field = .masked pattern)
    (hvalue : value.filter (· ≠ "") = some raw) : False := by
  rcases hpasses with hnone | hunmasked
  · rw [hnone] at hvalue
    cases hvalue
  · rw [hunmasked] at hdecide
    cases hdecide

theorem shown_of_masked {policy : Policy} {field : Field} {pattern : Pattern}
    (hdecide : policy.decide field = .masked pattern) (value : String) :
    policy.shown field value = field.mask pattern value := by
  rw [shown, hdecide]

/-- Only the empty text is shown as the empty text. -/
@[simp] theorem shown_eq_empty_iff (policy : Policy) (field : Field) (value : String) :
    policy.shown field value = "" ↔ value = "" := by
  cases hdecide : policy.decide field with
  | unmasked => rw [shown, hdecide]
  | masked pattern => rw [shown_of_masked hdecide, field.mask_eq_empty_iff]

/-- The empty text is shown by every policy as it is. -/
@[simp] theorem shown_empty (policy : Policy) (field : Field) : policy.shown field "" = "" :=
  (policy.shown_eq_empty_iff field "").mpr rfl

/-- What passes through a policy is shown as it is. -/
theorem shown_of_passes {policy : Policy} {field : Field} {value : Option String}
    (hpasses : policy.Passes field value) : value.map (policy.shown field) = value := by
  rcases hpasses with hnone | hunmasked
  · cases value with
    | none => rfl
    | some raw =>
        have hempty : raw = "" := by simpa [Option.filter_eq_none_iff] using hnone
        rw [hempty, Option.map_some, shown_empty]
  · cases value with
    | none => rfl
    | some raw => rw [Option.map_some, shown, hunmasked]

@[simp] theorem answer_mask (policy : Policy) (field : Field) (value : Option String) :
    (policy.mask field value).answer = value.map (policy.shown field) := rfl

theorem decide_of_shouldMask {policy : Policy} {field : Field}
    (hmasked : (policy.decide field).shouldMask = true) :
    ∃ pattern, policy.decide field = .masked pattern := by
  cases hdecide : policy.decide field with
  | unmasked => simp [hdecide, Decision.shouldMask] at hmasked
  | masked pattern => exact ⟨pattern, rfl⟩

/-- What may be revealed is masked. -/
theorem decide_of_mayReveal {policy : Policy} {field : Field}
    (hreveal : policy.mayReveal field = true) :
    ∃ pattern, policy.decide field = .masked pattern := by
  rw [mayReveal, Bool.and_eq_true] at hreveal
  exact decide_of_shouldMask hreveal.1

end Policy

end ContactPrivacy
