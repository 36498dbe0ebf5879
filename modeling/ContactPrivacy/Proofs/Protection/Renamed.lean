/-
What is logged of values that are sanitized or masked.  Of a payload it is as much
as of the payload with its contact values renamed: a renamed value is blank exactly
if the value is, and stays under its key.
-/
import ContactPrivacy.Proofs.Audit.Redacted
import ContactPrivacy.Proofs.Protection.Alike

namespace ContactPrivacy

open Logged (SameLog)

/-- A replacement changes what contact values are, not where they are. -/
theorem Contact.values_replace (f : DataType → String → String) (payload : Json) :
    values (replace f payload) =
      (values payload).map fun found => (found.1, f found.1 found.2) := by
  have hvalues : ∀ payload : Json, values payload = payload.scalars.filterMap held? :=
    fun payload => values_eq_filterMap [] payload rfl
  rw [hvalues, hvalues, scalars_replace, List.filterMap_map, List.map_filterMap]
  exact List.filterMap_congr fun scalar _ => held?_replaceScalar f scalar

namespace Protection

variable {rename : String → String}

/-- Replacements at the same keys are reported alike. -/
theorem redacted_reports (userId : Option Identifier) {found other : List Violation}
    (hkeys : found.map Violation.field = other.map Violation.field) :
    (reports userId found).map Event.redacted = (reports userId other).map Event.redacted := by
  have hlength : found.length = other.length := by
    simpa only [List.length_map] using congrArg List.length hkeys
  have hreports : ∀ found : List Violation, (reports userId found).map Event.redacted =
      if found.length = 0 then []
      else .payloadSanitized userId found.length ::
        (found.map Violation.field).map fun field => .fieldSanitized field "" := by
    intro found
    simp [reports, Event.redacted, apply_ite (List.map Event.redacted), Function.comp_def]
  rw [hreports, hreports, hlength, hkeys]

/-- Sanitizing a payload logs the same as sanitizing it renamed. -/
theorem sameLog_sanitize (hrename : Renaming rename) {first second : Protection}
    (huser : second.user = first.user) (payload : Json) :
    SameLog (fun x y => y.2.user = x.2.user) (first.sanitize payload)
      (second.sanitize (Contact.replace (fun _ => rename) payload)) := by
  unfold sanitize isProtected
  rw [huser]
  split
  · refine ⟨rfl, ?_⟩
    have halike := alike_replace (fun _ => hrename.eq_empty_iff) payload
    rw [List.map_cons, List.map_cons, redacted_reports _ halike.replacedKeys_eq]
  · exact ⟨rfl, rfl⟩

end Protection

namespace Policy

/-! Masking logs the decision, whatever the value is. -/

theorem sameLog_mask (policy : Policy) (field : Field) (value other : Option String) :
    SameLog (fun _ _ => True) (policy.mask field value) (policy.mask field other) :=
  ⟨trivial, rfl⟩

theorem sameLog_maskEmailList (policy : Policy) (value other : Option String) :
    SameLog (fun _ _ => True) (policy.maskEmailList value) (policy.maskEmailList other) := by
  refine .bind_same _ ?_
  split
  · exact .pure trivial
  · exact .pure trivial

theorem sameLog_maskContact (policy : Policy) (f : DataType → String → String)
    (payload : Json) :
    SameLog (fun _ _ => True) (policy.maskContact payload)
      (policy.maskContact (Contact.replace f payload)) := by
  refine ⟨trivial, ?_⟩
  simp only [maskContact, Contact.values_replace, List.map_map]
  rfl

end Policy

end ContactPrivacy
