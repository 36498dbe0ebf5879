/-
The evidence of what was replaced.  After each of any payloads a protected user's
evidence tells the parts of this payload that protected keys held, in document order,
each once, and nothing of the payloads before; the count of a masked payload is the
number of them.
-/
import ContactPrivacy.Proofs.Display.Protected
import ContactPrivacy.Proofs.Display.Sanitized

namespace ContactPrivacy.Protection

open Json (Part partsAt partsOfItems partsOfMembers)

/-- The evidence of a part: the key that holds it and the digest of its text, if the
key is protected, the part is not blank and no protected key is on the way to it. -/
def violation? (part : Part) : Option Violation :=
  match part.place with
  | .key key :: way =>
      if isProtectedKey key && isOpen way && !isBlank part.value then
        some ⟨key, Digest.sha256 part.value.literal.toUTF8.toList⟩
      else none
  | _ => none

def violationsIn (payload : Json) : List Violation := payload.parts.filterMap violation?

/-- Payloads sanitized one after the other: what is received of each, with the
evidence that is kept after it. -/
def sanitizeAll (protection : Protection) :
    List Json → Logged (List (Json × List Violation) × Protection)
  | [] => return ([], protection)
  | payload :: rest => do
      let (received, protection) ← protection.sanitize payload
      let (others, last) ← protection.sanitizeAll rest
      return ((received, protection.violations) :: others, last)

theorem violation?_key (key : String) (way : List Step) (value : Json) :
    (violation? ⟨.key key :: way, value⟩).toList =
      if isProtectedKey key && isOpen way then evidence key value else [] := by
  have htext : Digest.ofText value.literal "" = Digest.sha256 value.literal.toUTF8.toList := by
    rw [Digest.ofText, String.empty_append]
  cases hkey : isProtectedKey key && isOpen way <;> cases hblank : isBlank value <;>
    simp [violation?, evidence, hkey, hblank, htext]

theorem filterMap_violation?_cons (part : Part) (parts : List Part) :
    (part :: parts).filterMap violation? =
      (violation? part).toList ++ parts.filterMap violation? := by
  cases hpart : violation? part <;> simp [hpart]

theorem isOpen_cons_key (key : String) (way : List Step) :
    isOpen (.key key :: way) = (!isProtectedKey key && isOpen way) := rfl

theorem isOpen_cons_index (position : Nat) (way : List Step) :
    isOpen (.index position :: way) = isOpen way := by
  rw [isOpen, List.all_cons, Bool.true_and]
  rfl

mutual

/-- The evidence of the parts of a value: its own first, then what is replaced inside
it unless the value lies under a protected key. -/
theorem filterMap_violation?_partsAt (place : List Step) : (value : Json) →
    (partsAt place value).filterMap violation? =
      (violation? ⟨place, value⟩).toList ++ if isOpen place then replacements value else []
  | .list items => by
      rw [partsAt, filterMap_violation?_cons, filterMap_violation?_partsOfItems place 0 items,
        replacements]
  | .object members => by
      rw [partsAt, filterMap_violation?_cons, filterMap_violation?_partsOfMembers place members,
        replacements]
  | .null | .bool _ | .number _ | .string _ => by
      simp [partsAt, filterMap_violation?_cons, replacements]

theorem filterMap_violation?_partsOfItems (place : List Step) (position : Nat) :
    (items : List Json) →
    (partsOfItems place position items).filterMap violation? =
      if isOpen place then replacementsOfItems items else []
  | [] => by simp [partsOfItems, replacementsOfItems]
  | item :: rest => by
      rw [partsOfItems, List.filterMap_append, filterMap_violation?_partsAt _ item,
        filterMap_violation?_partsOfItems place (position + 1) rest, isOpen_cons_index]
      cases isOpen place <;> simp [violation?, replacementsOfItems]

theorem filterMap_violation?_partsOfMembers (place : List Step) :
    (members : List (String × Json)) →
    (partsOfMembers place members).filterMap violation? =
      if isOpen place then replacementsOfMembers members else []
  | [] => by simp [partsOfMembers, replacementsOfMembers]
  | (key, value) :: rest => by
      rw [partsOfMembers, List.filterMap_append, filterMap_violation?_partsAt _ value,
        filterMap_violation?_partsOfMembers place rest, violation?_key, isOpen_cons_key]
      cases hkey : isProtectedKey key <;> cases isOpen place <;>
        simp [replacementsOfMembers, hkey]

end

theorem violationsIn_eq_replacements (payload : Json) :
    violationsIn payload = replacements payload :=
  filterMap_violation?_partsAt [] payload

theorem violations_sanitize_open {protection : Protection}
    (hopen : protection.isProtected = false) (payload : Json) :
    (protection.sanitize payload).answer.2.violations = [] := by
  simp [sanitize, hopen]

/-- What the user of a protection receives of a payload, and the evidence left of it. -/
def outcome (protection : Protection) (payload : Json) : Json × List Violation :=
  if protection.isProtected then (sanitized payload, violationsIn payload) else (payload, [])

theorem outcome_sanitize (protection : Protection) (payload : Json) :
    ((protection.sanitize payload).answer.1,
      (protection.sanitize payload).answer.2.violations) = protection.outcome payload := by
  cases hprotected : protection.isProtected with
  | true =>
      rw [answer_sanitize_protected hprotected, violations_sanitize hprotected,
        ← violationsIn_eq_replacements, outcome, if_pos hprotected]
  | false =>
      simp [answer_sanitize_open hprotected, violations_sanitize_open hprotected, outcome,
        hprotected]

/-- What a payload comes to does not depend on the one before it. -/
theorem outcome_after_sanitize (protection : Protection) (before : Json) :
    (protection.sanitize before).answer.2.outcome = protection.outcome := by
  funext payload
  rw [outcome, outcome, isProtected_sanitize]

theorem answers_sanitizeAll (protection : Protection) (payloads : List Json) :
    (protection.sanitizeAll payloads).answer.1 = payloads.map protection.outcome := by
  induction payloads generalizing protection with
  | nil => rfl
  | cons payload rest ih =>
      simp only [sanitizeAll, Logged.answer_bind, Logged.answer_pure, List.map_cons]
      rw [outcome_sanitize, ih, outcome_after_sanitize]

/-- The evidence of a protection is what the last payload left.  Of payloads sanitized
one after the other a protected user receives each without what protected keys hold,
and after each the evidence tells its parts that are held by a protected key, are not
blank and lie under no other one: once each, in document order, by key and digest.
For everybody else there is none.  A session that masks a payload for a protected user
gives the same payload, with the number of these parts. -/
theorem violations_of_last_payload (user : Given User) (payloads : List Json) :
    let protection := ofUser user.user.answer
    let outcomes := (protection.sanitizeAll payloads).answer.1
    (protection.isProtected = true →
      outcomes = payloads.map fun payload => (sanitized payload, violationsIn payload)) ∧
    (protection.isProtected = false → outcomes = payloads.map fun payload => (payload, [])) ∧
    ∀ (T : Type) (session : Display.Session T) (payload : Json), session.isProtected = true →
      (session.maskContact payload).answer.1 =
        (sanitized payload, (violationsIn payload).length) := by
  intro protection outcomes
  have houtcomes : outcomes = payloads.map protection.outcome :=
    protection.answers_sanitizeAll payloads
  refine ⟨?_, ?_, ?_⟩
  · intro hprotected
    rw [houtcomes]
    apply List.map_congr_left
    intro payload _
    rw [outcome, if_pos hprotected]
  · intro hopen
    rw [houtcomes]
    apply List.map_congr_left
    intro payload _
    simp [outcome, hopen]
  · intro T session payload hprotected
    rw [(Display.Session.maskContact_protected hprotected payload).1, violationsIn_eq_replacements]

/-- An address, then a list with an object under a protected key, whose own number is
not told, a zero and a blank. -/
theorem violations_of_last_payload_nested :
    let user : Given User := .raw (.object [("pii_masking_enabled", .string "yes")])
    let first := Json.object [("email", .string "john.doe@example.com")]
    let second := Json.list [.object [("phone", .object [("phone_number", .string "555 0100")])],
      .object [("name", .object [("phone_number", .int 0), ("email", .string "")])]]
    let outcomes := ((ofUser user.user.answer).sanitizeAll [first, second]).answer.1
    let session := Display.Session.ofSettings .default user.user.answer
    (ofUser user.user.answer).isProtected = true ∧
      outcomes = [(sanitized first, violationsIn first), (sanitized second, violationsIn second)] ∧
      (violationsIn first).map Violation.field = ["email"] ∧
      (violationsIn second).map Violation.field = ["phone", "phone_number"] ∧
      session.isProtected = true ∧
      (session.maskContact second).answer.1 = (sanitized second, 2) := by
  intro user first second outcomes session
  have hprotected : (ofUser user.user.answer).isProtected = true := by decide +kernel
  obtain ⟨houtcomes, -, hmasked⟩ := violations_of_last_payload user [first, second]
  have hshown : session.isProtected = true := by decide +kernel
  exact ⟨hprotected, houtcomes hprotected, by decide +kernel, by decide +kernel, hshown,
    hmasked _ session second hshown⟩

end ContactPrivacy.Protection
