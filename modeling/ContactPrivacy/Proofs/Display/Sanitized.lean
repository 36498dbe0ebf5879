/-
Sanitizing what a session has masked.  Masking empties no contact value and fills
no empty one, so that a masked payload is alike the payload itself and nothing of
either is left once it is sanitized.
-/
import ContactPrivacy.Proofs.Display.Payload
import ContactPrivacy.Proofs.Protection.Sanitized

namespace ContactPrivacy

/-- The evidence that a protected user's payload leaves is that of the payload alone. -/
theorem Protection.violations_sanitize {protection : Protection}
    (hprotected : protection.isProtected = true) (payload : Json) :
    (protection.sanitize payload).answer.2.violations = replacements payload := by
  simp [sanitize, hprotected]

namespace Display.Session

variable {T : Type}

/-- A masked payload is alike what it was. -/
theorem alike_maskContact {session : Session T} (hopen : session.isProtected = false)
    (payload : Json) :
    Protection.Alike payload (session.maskContact payload).answer.1.1 := by
  rw [answer_maskContact hopen]
  exact Protection.alike_replace (fun t s => session.policy.shown_eq_empty_iff (.known t) s) payload

/-- A payload that was masked for somebody is sanitized like the payload itself:
a protected user receives the same, and the same keys are kept as evidence, in order. -/
theorem sanitize_absorbs_maskContact {session : Session T} (hopen : session.isProtected = false)
    {protection : Protection} (hprotected : protection.isProtected = true) (payload : Json) :
    let masked := (session.maskContact payload).answer.1.1
    let ofMasked := (protection.sanitize masked).answer
    let ofPayload := (protection.sanitize payload).answer
    ofMasked.1 = ofPayload.1 ∧
      ofMasked.2.violations.map Violation.field = ofPayload.2.violations.map Violation.field := by
  intro masked ofMasked ofPayload
  have halike : Protection.Alike payload masked := alike_maskContact hopen payload
  refine ⟨?_, ?_⟩
  · rw [Protection.answer_sanitize_protected hprotected,
      Protection.answer_sanitize_protected hprotected]
    exact halike.sanitized_eq.symm
  · rw [Protection.violations_sanitize hprotected, Protection.violations_sanitize hprotected]
    exact halike.replacedKeys_eq.symm

/-- An address under a key of its own and inside a list, an empty one, and an object
under a key of contact data whose own number is masked but not kept as evidence. -/
theorem sanitize_absorbs_maskContact_nested :
    let session := ofSettings .default none
    let protection := Protection.ofUser (some ⟨none, none, .agent, true⟩)
    let contact := fun address number : String => Json.object [("email", .string address),
      ("others", .list [.object [("email", .string ""),
        ("phone", .object [("phone_number", .string number)])]])]
    let payload := contact "john.doe@example.com" "+1 555 123 4567"
    let masked := contact "j***e@e***.com" "***-***-4567"
    let received := Json.object [("email", .string Protection.mark),
      ("others", .list [.object [("email", .string ""), ("phone", .string Protection.mark)]])]
    session.isProtected = false ∧ protection.isProtected = true ∧
      (session.maskContact payload).answer.1 = (masked, 2) ∧
      (protection.sanitize masked).answer.1 = received ∧
      (protection.sanitize payload).answer.1 = received ∧
      (protection.sanitize masked).answer.2.violations.map Violation.field =
        ["email", "phone"] := by
  intro session protection contact payload masked received
  have hmasked : (session.maskContact payload).answer.1 = (masked, 2) := by decide
  obtain ⟨hreceived, hfields⟩ := sanitize_absorbs_maskContact
    (rfl : session.isProtected = false) (rfl : protection.isProtected = true) payload
  rw [hmasked] at hreceived hfields
  exact ⟨rfl, rfl, hmasked, hreceived.trans rfl, rfl, hfields.trans rfl⟩

end Display.Session

end ContactPrivacy
